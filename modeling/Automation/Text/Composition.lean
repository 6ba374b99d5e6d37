import Automation.Text.Category

/-!
# Composed text

Unicode normalization form C. A text is decomposed, the marks behind every starter are put into the
order of their classes, and then a starter takes up every mark that it has a composite with and
that no mark of the same or a higher class blocks. Hangul syllables follow arithmetic; everything
else is a table.
-/

namespace Automation.Text

/-- What characters decompose into: a code point and the one or two code points it stands for, in
base 36. -/
def decompositionTable : List String :=
  ["5c 1t lc,5d 1t ld,5e 1t le,5f 1t lf,5g 1t lk,5h 1t lm,5j 1v mf,5k 1x lc,5l 1x ld",
     "5m 1x le,5n 1x lk,5o 21 lc,5p 21 ld,5q 21 le,5r 21 lk,5t 26 lf,5u 27 lc,5v 27 ld",
     "5w 27 le,5x 27 lf,5y 27 lk,61 2d lc,62 2d ld,63 2d le,64 2d lk,65 2h ld,68 2p lc",
     "69 2p ld,6a 2p le,6b 2p lf,6c 2p lk,6d 2p lm,6f 2r mf,6g 2t lc,6h 2t ld,6i 2t le",
     "6j 2t lk,6k 2x lc,6l 2x ld,6m 2x le,6n 2x lk,6p 32 lf,6q 33 lc,6r 33 ld,6s 33 le",
     "6t 33 lf,6u 33 lk,6x 39 lc,6y 39 ld,6z 39 le,70 39 lk,71 3d ld,73 3d lk,74 1t lg",
     "75 2p lg,76 1t li,77 2p li,78 1t mg,79 2p mg,7a 1v ld,7b 2r ld,7c 1v le,7d 2r le",
     "7e 1v lj,7f 2r lj,7g 1v lo,7h 2r lo,7i 1w lo,7j 2s lo,7m 1x lg,7n 2t lg,7o 1x li",
     "7p 2t li,7q 1x lj,7r 2t lj,7s 1x mg,7t 2t mg,7u 1x lo,7v 2t lo,7w 1z le,7x 2v le",
     "7y 1z li,7z 2v li,80 1z lj,81 2v lj,82 1z mf,83 2v mf,84 20 le,85 2w le,88 21 lf",
     "89 2x lf,8a 21 lg,8b 2x lg,8c 21 li,8d 2x li,8e 21 mg,8f 2x mg,8g 21 lj,8k 22 le",
     "8l 2y le,8m 23 mf,8n 2z mf,8p 24 ld,8q 30 ld,8r 24 mf,8s 30 mf,8t 24 lo,8u 30 lo",
     "8z 26 ld,90 32 ld,91 26 mf,92 32 mf,93 26 lo,94 32 lo,98 27 lg,99 33 lg,9a 27 li",
     "9b 33 li,9c 27 ln,9d 33 ln,9g 2a ld,9h 36 ld,9i 2a mf,9j 36 mf,9k 2a lo,9l 36 lo",
     "9m 2b ld,9n 37 ld,9o 2b le,9p 37 le,9q 2b mf,9r 37 mf,9s 2b lo,9t 37 lo,9u 2c mf",
     "9v 38 mf,9w 2c lo,9x 38 lo,a0 2d lf,a1 39 lf,a2 2d lg,a3 39 lg,a4 2d li,a5 39 li",
     "a6 2d lm,a7 39 lm,a8 2d ln,a9 39 ln,aa 2d mg,ab 39 mg,ac 2f le,ad 3b le,ae 2h le",
     "af 3d le,ag 2h lk,ah 2i ld,ai 3e ld,aj 2i lj,ak 3e lj,al 2i lo,am 3e lo,bk 27 m3",
     "bl 33 m3,bz 2d m3,c0 39 m3,ct 1t lo,cu 2p lo,cv 21 lo,cw 2x lo,cx 27 lo,cy 33 lo",
     "cz 2d lo,d0 39 lo,d1 64 lg,d2 70 lg,d3 64 ld,d4 70 ld,d5 64 lo,d6 70 lo,d7 64 lc",
     "d8 70 lc,da 5g lg,db 6c lg,dc fa lg,dd fb lg,de 5i lg,df 6e lg,di 1z lo,dj 2v lo",
     "dk 23 lo,dl 2z lo,dm 27 mg,dn 33 mg,do dm lg,dp dn lg,dq c7 lo,dr ia lo,ds 2y lo",
     "dw 1z ld,dx 2v ld,e0 26 lc,e1 32 lc,e2 5h ld,e3 6d ld,e4 5i ld,e5 6e ld,e6 60 ld",
     "e7 6w ld,e8 1t lr,e9 2p lr,ea 1t lt,eb 2p lt,ec 1x lr,ed 2t lr,ee 1x lt,ef 2t lt",
     "eg 21 lr,eh 2x lr,ei 21 lt,ej 2x lt,ek 27 lr,el 33 lr,em 27 lt,en 33 lt,eo 2a lr",
     "ep 36 lr,eq 2a lt,er 36 lt,es 2d lr,et 39 lr,eu 2d lt,ev 39 lt,ew 2b me,ex 37 me",
     "ey 2c me,ez 38 me,f2 20 lo,f3 2w lo,fa 1t lj,fb 2p lj,fc 1x mf,fd 2t mf,fe 5y lg",
     "ff 6u lg,fg 5x lg,fh 6t lg,fi 27 lj,fj 33 lj,fk fi lg,fl fj lg,fm 2h lg,fn 3d lg,n4 lc",
     "n5 ld,n7 lv,n8 lk ld,ok jd,ou 1n,p1 4o ld,p2 pd ld,p3 53,p4 ph ld,p5 pj ld,p6 pl ld",
     "p8 pr ld,pa px ld,pb q1 ld,pc qy ld,q2 pl lk,q3 px lk,q4 q9 ld,q5 qd ld,q6 qf ld",
     "q7 qh ld,q8 qz ld,qy qh lk,qz qt lk,r0 qn ld,r1 qt ld,r2 qx ld,r7 r6 ld,r8 r6 lk",
     "sg t1 lc,sh t1 lk,sj sz ld,sn sm lk,ss t6 ld,st t4 lc,su tf li,t5 t4 li,u1 u0 li",
     "uo tx lc,up tx lk,ur tv ld,uv uu lk,v0 u2 ld,v1 u0 lc,v2 ub li,vq vo lr,vr vp lr",
     "xt t2 li,xu ty li,y8 sw li,y9 ts li,ya sw lk,yb ts lk,ye t1 li,yf tx li,yi yg lk",
     "yj yh lk,yk t2 lk,yl ty lk,ym t3 lk,yn tz lk,yq t4 lg,yr u0 lg,ys t4 lk,yt u0 lk",
     "yu ta lk,yv u6 lk,yy yw lk,yz yx lk,z0 tp lk,z1 ul lk,z2 tf lg,z3 ub lg,z4 tf lk",
     "z5 ub lk,z6 tf ln,z7 ub ln,z8 tj lk,z9 uf lk,zc tn lk,zd uj lk,17m 17r 18z,17n 17r 190",
     "17o 18o 190,17p 17r 191,17q 18q 190,1c0 1cl 190,1c2 1c1 190,1cj 1ci 190,1t5 1t4 1to",
     "1td 1tc 1to,1tg 1tf 1to,1ug 1sl 1to,1uh 1sm 1to,1ui 1sn 1to,1uj 1ss 1to,1uk 1sx 1to",
     "1ul 1sy 1to,1um 1t7 1to,1un 1tb 1to,1xn 1xj 1xa,1xo 1xj 1xz,1y4 1wh 1x8,1y5 1wi 1x8",
     "1y7 1wv 1x8,20j 20i 20s,20m 20o 20s,21l 1zq 20s,21m 1zr 20s,21n 1zw 20s,21q 20b 20s",
     "288 287 28m,28b 287 27y,28c 287 28n,28s 275 27w,28t 276 27w,2ac 2aa 2c7,2bu 2bq 2bi",
     "2bv 2br 2bi,2bw 2bq 2c7,2fc 2fa 2fq,2io 2in 2j9,2iv 2iu 2j9,2iw 2iu 2ja,2iy 2iu 2iq",
     "2iz 2iy 2j9,2mi 2me 2m6,2mj 2mf 2m6,2mk 2me 2mv,2qi 2qh 2q2,2qk 2qh 2q7,2ql 2qk 2q2",
     "2qm 2qh 2qn,30j 30i 33r,30t 30s 33r,30y 30x 33r,313 312 33r,318 317 33r,31l 30g 33p",
     "31v 31t 31u,31x 31t 31w,31y 33m 328,320 33n 328,329 31t 328,32r 32q 33r,331 330 33r",
     "336 335 33r,33b 33a 33r,33g 33f 33r,33t 32o 33p,36u 36t 372,5c6 5c5 5dh,5c8 5c7 5dh",
     "5ca 5c9 5dh,5cc 5cb 5dh,5ce 5cd 5dh,5ci 5ch 5dh,5dn 5dm 5dh,5dp 5do 5dh,5ds 5dq 5dh",
     "5dt 5dr 5dh,5dv 5du 5dh,5xc 1t md,5xd 2p md,5xe 1u lj,5xf 2q lj,5xg 1u mb,5xh 2q mb",
     "5xi 1u mp,5xj 2q mp,5xk 5j ld,5xl 6f ld,5xm 1w lj,5xn 2s lj,5xo 1w mb,5xp 2s mb",
     "5xq 1w mp,5xr 2s mp,5xs 1w mf,5xt 2s mf,5xu 1w ml,5xv 2s ml,5xw 7m lc,5xx 7n lc",
     "5xy 7m ld,5xz 7n ld,5y0 1x ml,5y1 2t ml,5y2 1x mo,5y3 2t mo,5y4 fc li,5y5 fd li",
     "5y6 1y lj,5y7 2u lj,5y8 1z lg,5y9 2v lg,5ya 20 lj,5yb 2w lj,5yc 20 mb,5yd 2w mb",
     "5ye 20 lk,5yf 2w lk,5yg 20 mf,5yh 2w mf,5yi 20 mm,5yj 2w mm,5yk 21 mo,5yl 2x mo",
     "5ym 5r ld,5yn 6n ld,5yo 23 ld,5yp 2z ld,5yq 23 mb,5yr 2z mb,5ys 23 mp,5yt 2z mp",
     "5yu 24 mb,5yv 30 mb,5yw 5yu lg,5yx 5yv lg,5yy 24 mp,5yz 30 mp,5z0 24 ml,5z1 30 ml",
     "5z2 25 ld,5z3 31 ld,5z4 25 lj,5z5 31 lj,5z6 25 mb,5z7 31 mb,5z8 26 lj,5z9 32 lj",
     "5za 26 mb,5zb 32 mb,5zc 26 mp,5zd 32 mp,5ze 26 ml,5zf 32 ml,5zg 5x ld,5zh 6t ld",
     "5zi 5x lk,5zj 6t lk,5zk 98 lc,5zl 99 lc,5zm 98 ld,5zn 99 ld,5zo 28 ld,5zp 34 ld",
     "5zq 28 lj,5zr 34 lj,5zs 2a lj,5zt 36 lj,5zu 2a mb,5zv 36 mb,5zw 5zu lg,5zx 5zv lg",
     "5zy 2a mp,5zz 36 mp,600 2b lj,601 37 lj,602 2b mb,603 37 mb,604 9m lj,605 9n lj",
     "606 9s lj,607 9t lj,608 602 lj,609 603 lj,60a 2c lj,60b 38 lj,60c 2c mb,60d 38 mb",
     "60e 2c mp,60f 38 mp,60g 2c ml,60h 38 ml,60i 2d mc,60j 39 mc,60k 2d mo,60l 39 mo",
     "60m 2d ml,60n 39 ml,60o a0 ld,60p a1 ld,60q a2 lk,60r a3 lk,60s 2e lf,60t 3a lf",
     "60u 2e mb,60v 3a mb,60w 2f lc,60x 3b lc,60y 2f ld,60z 3b ld,610 2f lk,611 3b lk",
     "612 2f lj,613 3b lj,614 2f mb,615 3b mb,616 2g lj,617 3c lj,618 2g lk,619 3c lk",
     "61a 2h lj,61b 3d lj,61c 2i le,61d 3e le,61e 2i mb,61f 3e mb,61g 2i mp,61h 3e mp",
     "61i 2w mp,61j 38 lk,61k 3b lm,61l 3d lm,61n an lj,61s 1t mb,61t 2p mb,61u 1t ll",
     "61v 2p ll,61w 5e ld,61x 6a ld,61y 5e lc,61z 6a lc,620 5e ll,621 6a ll,622 5e lf",
     "623 6a lf,624 61s le,625 61t le,626 76 ld,627 77 ld,628 76 lc,629 77 lc,62a 76 ll",
     "62b 77 ll,62c 76 lf,62d 77 lf,62e 61s li,62f 61t li,62g 1x mb,62h 2t mb,62i 1x ll",
     "62j 2t ll,62k 1x lf,62l 2t lf,62m 5m ld,62n 6i ld,62o 5m lc,62p 6i lc,62q 5m ll",
     "62r 6i ll,62s 5m lf,62t 6i lf,62u 62g le,62v 62h le,62w 21 ll,62x 2x ll,62y 21 mb",
     "62z 2x mb,630 27 mb,631 33 mb,632 27 ll,633 33 ll,634 5w ld,635 6s ld,636 5w lc",
     "637 6s lc,638 5w ll,639 6s ll,63a 5w lf,63b 6s lf,63c 630 le,63d 631 le,63e bk ld",
     "63f bl ld,63g bk lc,63h bl lc,63i bk ll,63j bl ll,63k bk lf,63l bl lf,63m bk mb",
     "63n bl mb,63o 2d mb,63p 39 mb,63q 2d ll,63r 39 ll,63s bz ld,63t c0 ld,63u bz lc",
     "63v c0 lc,63w bz ll,63x c0 ll,63y bz lf,63z c0 lf,640 bz mb,641 c0 mb,642 2h lc",
     "643 3d lc,644 2h mb,645 3d mb,646 2h ll,647 3d ll,648 2h lf,649 3d lf,64g q9 lv",
     "64h q9 lw,64i 64g lc,64j 64h lc,64k 64g ld,64l 64h ld,64m 64g n6,64n 64h n6,64o pd lv",
     "64p pd lw,64q 64o lc,64r 64p lc,64s 64o ld,64t 64p ld,64u 64o n6,64v 64p n6,64w qd lv",
     "64x qd lw,64y 64w lc,64z 64x lc,650 64w ld,651 64x ld,654 ph lv,655 ph lw,656 654 lc",
     "657 655 lc,658 654 ld,659 655 ld,65c qf lv,65d qf lw,65e 65c lc,65f 65d lc,65g 65c ld",
     "65h 65d ld,65i 65c n6,65j 65d n6,65k pj lv,65l pj lw,65m 65k lc,65n 65l lc,65o 65k ld",
     "65p 65l ld,65q 65k n6,65r 65l n6,65s qh lv,65t qh lw,65u 65s lc,65v 65t lc,65w 65s ld",
     "65x 65t ld,65y 65s n6,65z 65t n6,660 pl lv,661 pl lw,662 660 lc,663 661 lc,664 660 ld",
     "665 661 ld,666 660 n6,667 661 n6,668 qn lv,669 qn lw,66a 668 lc,66b 669 lc,66c 668 ld",
     "66d 669 ld,66g pr lv,66h pr lw,66i 66g lc,66j 66h lc,66k 66g ld,66l 66h ld,66o qt lv",
     "66p qt lw,66q 66o lc,66r 66p lc,66s 66o ld,66t 66p ld,66u 66o n6,66v 66p n6,66x px lw",
     "66z 66x lc,671 66x ld,673 66x n6,674 qx lv,675 qx lw,676 674 lc,677 675 lc,678 674 ld",
     "679 675 ld,67a 674 n6,67b 675 n6,67c q1 lv,67d q1 lw,67e 67c lc,67f 67d lc,67g 67c ld",
     "67h 67d ld,67i 67c n6,67j 67d n6,67k q9 lc,67l q4,67m qd lc,67n q5,67o qf lc,67p q6",
     "67q qh lc,67r q7,67s qn lc,67t r0,67u qt lc,67v r1,67w qx lc,67x r2,680 64g n9",
     "681 64h n9,682 64i n9,683 64j n9,684 64k n9,685 64l n9,686 64m n9,687 64n n9,688 64o n9",
     "689 64p n9,68a 64q n9,68b 64r n9,68c 64s n9,68d 64t n9,68e 64u n9,68f 64v n9,68g 65c n9",
     "68h 65d n9,68i 65e n9,68j 65f n9,68k 65g n9,68l 65h n9,68m 65i n9,68n 65j n9,68o 65k n9",
     "68p 65l n9,68q 65m n9,68r 65n n9,68s 65o n9,68t 65p n9,68u 65q n9,68v 65r n9,68w 674 n9",
     "68x 675 n9,68y 676 n9,68z 677 n9,690 678 n9,691 679 n9,692 67a n9,693 67b n9,694 67c n9",
     "695 67d n9,696 67e n9,697 67f n9,698 67g n9,699 67h n9,69a 67i n9,69b 67j n9,69c q9 li",
     "69d q9 lg,69e 67k n9,69f q9 n9,69g q4 n9,69i q9 n6,69j 69i n9,69k pd li,69l pd lg",
     "69m pd lc,69n p2,69o pd n9,69q qh,69t 4o n6,69u 67o n9,69v qf n9,69w q6 n9,69y qf n6",
     "69z 69y n9,6a0 ph lc,6a1 p4,6a2 pj lc,6a3 p5,6a4 pj n9,6a5 69r lc,6a6 69r ld,6a7 69r n6",
     "6a8 qh li,6a9 qh lg,6aa qy lc,6ab pc,6ae qh n6,6af qy n6,6ag pl li,6ah pl lg,6ai pl lc",
     "6aj p6,6al 6bi lc,6am 6bi ld,6an 6bi n6,6ao qt li,6ap qt lg,6aq qz lc,6ar q8,6as qp lv",
     "6at qp lw,6au qt n6,6av qz n6,6aw px li,6ax px lg,6ay px lc,6az pa,6b0 pt lw,6b1 4o lc",
     "6b2 p1,6b3 2o,6b6 67w n9,6b7 qx n9,6b8 r2 n9,6ba qx n6,6bb 6ba n9,6bc pr lc,6bd p8",
     "6be q1 lc,6bf pb,6bg q1 n9,6bh 50,6bk 6bm,6bl 6bn,6jq q1,6ju 23,6jv 5h,6my 6mo mw",
     "6mz 6mq mw,6ni 6ms mw,6od 6og mw,6oe 6ok mw,6of 6oi mw,6pw 6pv mw,6q1 6q0 mw,6q4 6q3 mw",
     "6qs 6qr mw,6qu 6qt mw,6rl 6rg mw,6ro 6rn mw,6rr 6rp mw,6rt 6rs mw,6sg 1p mw,6si 6sh mw",
     "6st 6rx mw,6su 1o mw,6sv 1q mw,6sw 6sk mw,6sx 6sl mw,6t0 6sy mw,6t1 6sz mw,6t4 6t2 mw",
     "6t5 6t3 mw,6tc 6t6 mw,6td 6t7 mw,6tg 6te mw,6th 6tf mw,6tk 6ti mw,6tl 6tj mw,6uk 6ua mw",
     "6ul 6ug mw,6um 6uh mw,6un 6uj mw,6w0 6t8 mw,6w1 6t9 mw,6w2 6tt mw,6w3 6tu mw,6wa 6uq mw",
     "6wb 6ur mw,6wc 6us mw,6wd 6ut mw,6y1 9hk,6y2 9hl,8gs 8gt mw,9jg 9jf 9ll,9ji 9jh 9ll",
     "9jk 9jj 9ll,9jm 9jl 9ll,9jo 9jn 9ll,9jq 9jp 9ll,9js 9jr 9ll,9ju 9jt 9ll,9jw 9jv 9ll",
     "9jy 9jx 9ll,9k0 9jz 9ll,9k2 9k1 9ll,9k5 9k4 9ll,9k7 9k6 9ll,9k9 9k8 9ll,9kg 9kf 9ll",
     "9kh 9kf 9lm,9kj 9ki 9ll,9kk 9ki 9lm,9km 9kl 9ll,9kn 9kl 9lm,9kp 9ko 9ll,9kq 9ko 9lm",
     "9ks 9kr 9ll,9kt 9kr 9lm,9lg 9ja 9ll,9lq 9lp 9ll,9m4 9m3 9ll,9m6 9m5 9ll,9m8 9m7 9ll",
     "9ma 9m9 9ll,9mc 9mb 9ll,9me 9md 9ll,9mg 9mf 9ll,9mi 9mh 9ll,9mk 9mj 9ll,9mm 9ml 9ll",
     "9mo 9mn 9ll,9mq 9mp 9ll,9mt 9ms 9ll,9mv 9mu 9ll,9mx 9mw 9ll,9n4 9n3 9ll,9n5 9n3 9lm",
     "9n7 9n6 9ll,9n8 9n6 9lm,9na 9n9 9ll,9nb 9n9 9lm,9nd 9nc 9ll,9ne 9nc 9lm,9ng 9nf 9ll",
     "9nh 9nf 9lm,9o4 9ly 9ll,9o7 9nz 9ll,9o8 9o0 9ll,9o9 9o1 9ll,9oa 9o2 9ll,9oe 9od 9ll",
     "1d6o rpk,1d6p kc4,1d6q s7e,1d6r rt4,1d6s lw1,1d6t fg2,1d6u gkl,1d6v vj0,1d6w vj0",
     "1d6x hn5,1d6y ssx,1d6z gw7,1d70 hmw,1d71 jcm,1d72 ne1,1d73 p6t,1d74 qin,1d75 qt6",
     "1d76 r20,1d77 sjz,1d78 kxu,1d79 ljv,1d7a mah,1d7b mvy,1d7c q4d,1d7d sq2,1d7e uep",
     "1d7f fia,1d7g ghh,1d7h l50,1d7i mjf,1d7j qi5,1d7k v8e,1d7l ifk,1d7m m3v,1d7n qfh",
     "1d7o r50,1d7p jih,1d7q pnc,1d7r qvz,1d7s iq2,1d7t kd3,1d7u lm2,1d7v mpo,1d7w slq",
     "1d7x fpi,1d7y g53,1d7z gda,1d80 jwk,1d81 l3n,1d82 mj4,1d83 nhj,1d84 pa9,1d85 qh2",
     "1d86 qjg,1d87 s1b,1d88 tv6,1d89 upb,1d8a v7e,1d8b nt8,1d8c nzz,1d8d otc,1d8e q15",
     "1d8f t1g,1d8g vb3,1d8h rfa,1d8i hjz,1d8j iro,1d8k okg,1d8l pdq,1d8m mle,1d8n nuy",
     "1d8o rsy,1d8p ttj,1d8q hjs,1d8r i8y,1d8s kyb,1d8t lp6,1d8u lxr,1d8v oq7,1d8w oxj",
     "1d8x tor,1d8y gcy,1d8z pe3,1d90 g64,1d91 g5o,1d92 o4c,1d93 ou6,1d94 q29,1d95 tpx",
     "1d96 rk0,1d97 jin,1d98 kxu,1d99 rge,1d9a fg9,1d9b i5j,1d9c iz6,1d9d mtj,1d9e n74",
     "1d9f gev,1d9g nwb,1d9h fr3,1d9i iw9,1d9j ff1,1d9k lho,1d9l k1k,1d9m opu,1d9n gjn",
     "1d9o hge,1d9p ni9,1d9q q4p,1d9r re2,1d9s la2,1d9t sds,1d9u lfs,1d9v jjy,1d9w put",
     "1d9x jog,1d9y n6t,1d9z fji,1da0 g2x,1da1 g5l,1da2 kn5,1da3 oo7,1da4 prj,1da5 rf6",
     "1da6 ssv,1da7 gdx,1da8 gn6,1da9 ho3,1daa ir0,1dab k3p,1dac m4e,1dad nxm,1dae tkd",
     "1daf ui2,1dag vbr,1dah vda,1dai gbf,1daj kau,1dak l87,1dal sbm,1dam ino,1dan j9s",
     "1dao jcw,1dap jve,1daq lyb,1dar mdl,1das n0p,1dat o22,1dau ovo,1dav pdb,1daw s9y",
     "1dax q9a,1day sgz,1daz t3e,1db0 g7r,1db1 gbn,1db2 gql,1db3 ma0,1db4 r0i,1db5 re2",
     "1db6 iq1,1db7 iyd,1db8 jnf,1db9 l9q,1dba oji,1dbb mt1,1dbc fl0,1dbd h6h,1dbe i5j",
     "1dbf iii,1dbg izg,1dbh muq,1dbi mzt,1dbj p7e,1dbk pc6,1dbl svo,1dbm tti,1dbn tvs",
     "1dbo u1k,1dbp fpn,1dbq o1a,1dbr ss4,1dbs trs,1dbt j4x,1dbu fie,1dbv fyy,1dbw i5q",
     "1dbx i7z,1dby k2h,1dbz kxu,1dc0 mha,1dc1 ncy,1dc2 q9o,1dc3 sjg,1dc4 vil,1dc5 k94",
     "1dc6 tny,1dc7 gax,1dc8 kfv,1dc9 kj7,1dca lkx,1dcb luk,1dcc mx5,1dcd n6h,1dce nsb",
     "1dcf opc,1dcg u3i,1dch g31,1dci je6,1dcj tq0,1dck fu3,1dcl ie1,1dcm lpm,1dcn sa2",
     "1dco ivf,1dcp j7o,1dcq kk7,1dcr mtj,1dcs tqe,1dct g89,1dcu glr,1dcv i91,1dcw k5v",
     "1dcx kem,1dcy ko8,1dcz lid,1dd0 mx2,1dd1 naa,1dd2 p6h,1dd3 r0v,1dd4 r1d,1dd5 sss",
     "1dd6 tsy,1dd7 gfz,1dd8 lve,1dd9 gm5,1dda mhc,1ddb n14,1ddc qgq,1ddd tr7,1dde uvr",
     "1ddf vbz,1ddg kgn,1ddh lor,1ddi pns,1ddj o97,1ddk obk,1ddl olu,1ddm mo0,1ddn m8p",
     "1ddo riw,1ddp fk0,1ddq px2,1ddr g8q,1dds g7b,1ddt ip2,1ddu jir,1ddv onq,1ddw i2t",
     "1ddx ljy,1ddy kac,1ddz saj,1de0 qx8,1de1 tot,1de2 r63,1de3 iqb,1de4 g1s,1de5 gxs",
     "1de8 hga,1dea k8k,1ded g66,1dee mqy,1def ngq,1deg ny4,1deh nz2,1dei nz9,1dej o0f",
     "1dek tw6,1del on2,1dem p8d,1deo qhe,1deq rg8,1det shk,1deu sn1,1dey u7j,1dez u7w",
     "1df0 u94,1df1 v5g,1df2 sm6,1df3 trr,1df4 fqm,1df5 fzb,1df6 g25,1df7 gcp,1df8 gdg",
     "1df9 ggh,1dfa gwt,1dfb gzq,1dfc h2g,1dfd hfk,1dfe hig,1dff i90,1dfg i9a,1dfh j2s",
     "1dfi j8o,1dfj j9q,1dfk jci,1dfl k0f,1dfm k4i,1dfn k9d,1dfo kn9,1dfp lmf,1dfq lqy",
     "1dfr lya,1dfs mem,1dft mjv,1dfu mxu,1dfv ntd,1dfw ny6,1dfx nyh,1dfy nyg,1dfz nyo",
     "1dg0 nyu,1dg1 nz1,1dg2 o0d,1dg3 o0e,1dg4 o5c,1dg5 o75,1dg6 og0,1dg7 ovo,1dg8 ow9",
     "1dg9 oxt,1dga p6a,1dgb pad,1dgc pnx,1dgd prt,1dge prt,1dgf q53,1dgg r2o,1dgh r6e",
     "1dgi rgh,1dgj ri1,1dgk rtf,1dgl ruw,1dgm sdy,1dgn shk,1dgo tsz,1dgp u0v,1dgq u2j",
     "1dgr j1x,1dgs 36cu,1dgt pp4,1dgw ffq,1dgx g51,1dgy g2w,1dgz fpc,1dh0 g1x,1dh1 g3k",
     "1dh2 gcn,1dh3 ge2,1dh4 gwt,1dh5 gut,1dh6 gwp,1dh7 gyq,1dh8 hga,1dh9 hir,1dha hms",
     "1dhb hn8,1dhc huq,1dhd i08,1dhe iqa,1dhf iqh,1dhg iuh,1dhh iwd,1dhi j4o,1dhj j7y",
     "1dhk j60,1dhl j9q,1dhm j8g,1dhn jci,1dho jec,1dhp jpg,1dhq jrw,1dhr jte,1dhs k0m",
     "1dht k8k,1dhu kd3,1dhv kd7,1dhw keu,1dhx l89,1dhy la2,1dhz lkx,1di0 lwb,1di1 lvv",
     "1di2 lya,1di3 m5a,1di4 mem,1di5 nmv,1di6 mk5,1di7 mnj,1di8 mqy,1di9 n01,1dia n46",
     "1dib n5n,1dic nbx,1did nbz,1die ngq,1dif nh7,1dig nhw,1dih nka,1dii nk0,1dij nv0",
     "1dik o8h,1dil og0,1dim ol7,1din orf,1dio ovo,1dip p4u,1diq pad,1dir pxu,1dis q27",
     "1dit qrd,1diu r41,1div r5y,1diw r6e,1dix ren,1diy rg8,1diz rez,1dj0 rgh,1dj1 rge",
     "1dj2 rfx,1dj3 ri1,1dj4 rka,1dj5 ruw,1dj6 sag,1dj7 sj6,1dj8 srd,1dj9 sxi,1dja tq4",
     "1djb tsz,1djc tw6,1djd tzv,1dje u0v,1djf u17,1djg u2j,1djh umq,1dji vj0,1djj 313e",
     "1djk 3138,1djl 33dh,1djm brx,1djn cns,1djo cop,1djp 39e1,1djq 3bgw,1djr 3i6r,1djs vgj",
     "1djt vim,1dlp 15l 14k,1dlr 16a 14n,1dm2 161 14x,1dm3 161 14y,1dm4 1dmx 14x,1dm5 1dmx 14y",
     "1dm6 15c 14n,1dm7 15c 14o,1dm8 15c 14s,1dm9 15d 14s,1dma 15e 14s,1dmb 15f 14s",
     "1dmc 15g 14s,1dmd 15h 14s,1dme 15i 14s,1dmg 15k 14s,1dmh 15l 14s,1dmi 15m 14s",
     "1dmj 15n 14s,1dmk 15o 14s,1dmm 15q 14s,1dmo 15s 14s,1dmp 15t 14s,1dmr 15v 14s",
     "1dms 15w 14s,1dmu 15y 14s,1dmv 15z 14s,1dmw 160 14s,1dmx 161 14s,1dmy 162 14s",
     "1dmz 15h 14p,1dn0 15d 14v,1dn1 15n 14v,1dn2 15w 14v,1fpl 1fpu lj,1fqc 1fq2 lj",
     "1hui 1huh 1hve,1huk 1huj 1hve,1huz 1hut 1hve,1hym 1hyp 1hyf,1hyn 1hyq 1hyf",
     "1idn 1idj 1ida,1ido 1idj 1idz,1if7 1if6 1ih5,1if9 1if8 1igr,1ifi 1iff 1igy",
     "1ifl 1ifk 1ih5,1ih1 1igy 1igy,1ih3 1igy 1igo,1ih4 1igy 1ih5,1inv 1int 1inu",
     "1inw 1int 1ink,1iny 1int 1inx,1iuy 1iuw 1iun,1iuz 1iux 1iun,1jjs 1jjp 1jjk",
     "1xr5 1xr2 1xr2,1xr6 1xr2 1xrd,1xr7 1xr2 1xr3,1xr8 1xrd 1xr3,1xr9 1xr2 1xr4",
     "1xra 1xr5 1xr3,1xrb 1xr6 1xr3,1xrc 1xr5 1xr4,206g 206f 206f,206h 206b 206f",
     "206i 206h 206f,2jxa 2jx3 2jxh,2jxb 2jx4 2jxh,2jxc 2jxb 2jxq,2jxd 2jxb 2jxr",
     "2jxe 2jxb 2jxs,2jxf 2jxb 2jxt,2jxg 2jxb 2jxu,2jzv 2jzt 2jxh,2jzw 2jzu 2jxh",
     "2jzx 2jzv 2jxq,2jzy 2jzw 2jxq,2jzz 2jzv 2jxr,2k00 2jzw 2jxr,464g fgd,464h fg8,464i fgh",
     "464j 2tcy,464k fog,464l fqm,464m fqz,464n fsy,464o fwa,464p fx5,464q fzb,464r fyn",
     "464s ae6,464t 2ud6,464u g25,464v g2c,464w g2s,464x g3b,464y 2u58,464z aex,4650 g2v",
     "4651 g3x,4652 2u6j,4653 g47,4654 g4k,4655 fkc,4656 g4s,4657 g51,4658 3ly7,4659 g6t",
     "465a g77,465b afz,465c g8r,465d g92,465e gaa,465f gaf,465g ahh,465h gcn,465i gcp",
     "465j gdg,465k ge2,465l ged,465m gee,465n gev,465o gg9,465p ggh,465q ggq,465r ghf",
     "465s ghp,465t ghr,465u ghr,465v ghr,465w 2v58,465x m7k,465y gju,465z gkf,4660 2vdv",
     "4661 gkr,4662 gkx,4663 gli,4664 gpq,4665 gmw,4666 gnc,4667 go8,4668 gpu,4669 gs6",
     "466a gsw,466b gur,466c gv7,466d gw4,466e gw4,466f gwp,466g gx7,466h gxf,466i gxu",
     "466j h7a,466k gzq,466l h7b,466m h1t,466n h2s,466o g7b,466p hke,466q hce,466r hdg",
     "466s he5,466t haj,466u hf6,466v hf5,466w hik,466x 2x9g,466y hki,466z hkn,4670 hl2",
     "4671 hlm,4672 hlu,4673 hnm,4674 2xm0,4675 2xnu,4676 hrg,4677 hsr,4678 ht3,4679 hqw",
     "467a huu,467b aum,467c av0,467d hzc,467e i0u,467f i0u,467g 2y88,467h i4j,467i i54",
     "467j i5j,467k i5v,467l 2yhk,467m i67,467n i6e,467o itv,467p i76,467q ayp,467r i8w",
     "467s i9a,467t ibk,467u ia5,467v 2z1g,467w if7,467x 2z1i,467y ige,467z igb,4680 igs",
     "4681 ijl,4682 ijm,4683 b3j,4684 ikd,4685 ilk,4686 im5,4687 ind,4688 b4y,4689 2zr7",
     "468a b5o,468b ipc,468c ipf,468d ipi,468e iq2,468f 3pg2,468g iri,468h 3035,468i 3035",
     "468j poh,468k isi,468l isi,468m b7r,468n 335k,468o 3cgq,468p iua,468q iuj,468r b8j",
     "468s ivu,468t ix9,468u ixj,468v iyh,468w j29,468x bay,468y ba4,468z j2s,4690 30t0",
     "4691 j47,4692 j7s,4693 j7w,4694 j7y,4695 j7w,4696 j96,4697 j9q,4698 jaq,4699 jac",
     "469a jan,469b jby,469c jci,469d jcm,469e jdc,469f jdn,469g jfh,469h jht,469i jis",
     "469j jm8,469k 31n0,469l jlp,469m jjw,469n jmw,469o jnn,469p jqc,469q 31td,469r js2",
     "469s jph,469t jop,469u bhq,469v ju1,469w jum,469x jvh,469y juf,469z bjg,46a0 k0f",
     "46a1 k18,46a2 32mi,46a3 k4j,46a4 kc8,46a5 k7d,46a6 bo9,46a7 k9d,46a8 bns,46a9 bms",
     "46aa g42,46ab g45,46ac kcg,46ad k9o,46ae pf1,46af deh,46ag kd3,46ah kd7,46ai kdd",
     "46aj kf2,46ak ker,46al 33cz,46am bpl,46an kje,46ao kg5,46ap klu,46aq kn9,46ar 33hp",
     "46as kni,46at kkf,46au kr8,46av brx,46aw ksi,46ax kv7,46ay kx6,46az l2g,46b0 33xf",
     "46b1 l3v,46b2 bvc,46b3 l5t,46b4 34br,46b5 l78,46b6 bwu,46b7 l82,46b8 l9b,46b9 la2",
     "46ba la3,46bb 34p9,46bc 2yvf,46bd 34sa,46be le6,46bf 354s,46bg lhb,46bh lhp,46bi lev",
     "46bj ljq,46bk lku,46bl lmf,46bm lkx,46bn lm1,46bo lmg,46bp lmt,46bq 357i,46br lkk",
     "46bs lrj,46bt lta,46bu c37,46bv lvv,46bw lvr,46bx 35jl,46by lq1,46bz m0e,46c0 35ni",
     "46c1 35ou,46c2 m2u,46c3 m61,46c4 m5a,46c5 m57,46c6 c5y,46c7 m6i,46c8 m7x,46c9 m7r",
     "46ca m99,46cb 2u5h,46cc mdh,46cd 368z,46ce mfw,46cf 36i3,46cg mjs,46ch mk5,46ci mkw",
     "46cj 36yw,46ck mm8,46cl mmt,46cm 3779,46cn 37dg,46co mt6,46cp mtn,46cq cdo,46cr mud",
     "46cs ce0,46ct ce0,46cu myv,46cv mzg,46cw n01,46cx n0l,46cy n2i,46cz cgr,46d0 n50",
     "46d1 386u,46d2 n5q,46d3 389e,46d4 n74,46d5 2zrz,46d6 nbk,46d7 38v5,46d8 38vs,46d9 38zo",
     "46da cn0,46db cnc,46dc nhw,46dd 394j,46de 394i,46df 395l,46dg 396b,46dh nj2,46di nj3",
     "46dj nj3,46dk nka,46dl cop,46dm nm3,46dn cp2,46do cra,46dp 39r1,46dq nri,46dr nt8",
     "46ds nv0,46dt ctf,46du 3a5i,46dv nyu,46dw 3a8q,46dx 3a9x,46dy o0f,46dz o2z,46e0 cvj",
     "46e1 o5c,46e2 o5m,46e3 o5r,46e4 3at8,46e5 3b1j,46e6 3b1j,46e7 oa6,46e8 d1e,46e9 3b8r",
     "46ea og6,46eb og9,46ec d2f,46ed 3beo,46ee onm,46ef d5s,46eg oo8,46eh oo3,46ei oow",
     "46ej 3c06,46ek orn,46el d8h,46em ouf,46en ow2,46eo oxx,46ep d9w,46eq 3ciw,46er 3cjr",
     "46es dax,46et 3cnt,46eu p6i,46ev 3cqm,46ew p79,46ex pa2,46ey pad,46ez 3d22,46f0 3d43",
     "46f1 pcw,46f2 3d7s,46f3 pdc,46f4 33a7,46f5 ded,46f6 pf6,46f7 phf,46f8 dfv,46f9 pj2",
     "46fa hx1,46fb 3dlz,46fc 3dmd,46fd 33bn,46fe 33bw,46ff poh,46fg pok,46fh sda,46fi dij",
     "46fj psh,46fk psb,46fl pst,46fm gc3,46fn ptd,46fo ptf,46fp ptp,46fq puu,46fr 3ebg",
     "46fs put,46ft pwd,46fu pyb,46fv q0d,46fw pwj,46fx q0t,46fy q1z,46fz q53,46g0 pxv",
     "46g1 q16,46g2 q18,46g3 q1o,46g4 3eie,46g5 3eqz,46g6 3emt,46g7 dnv,46g8 q9d,46g9 q9f",
     "46ga qae,46gb 3g0a,46gc qck,46gd 3f3g,46ge dp9,46gf dpd,46gg 3f75,46gh 3ff6,46gi dpn",
     "46gj qj4,46gk qjg,46gl qjr,46gm qjt,46gn qll,46go qko,46gp qoe,46gq qn6,46gr qrd",
     "46gs qp4,46gt qqz,46gu qrq,46gv dsn,46gw qu9,46gx qv5,46gy dtl,46gz qxs,46h0 qxv",
     "46h1 3giv,46h2 r13,46h3 r1a,46h4 dv9,46h5 r22,46h6 aez,46h7 3gz2,46h8 3h46,46h9 dz2",
     "46ha dzb,46hb rds,46hc rfx,46hd rka,46he rpx,46hf 3hrc,46hg rsb,46hh rsx,46hi rvf",
     "46hj rxz,46hk 3i9b,46hl 2upw,46hm s0b,46hn rzw,46ho s1c,46hp 2uvy,46hq s7o,46hr sag",
     "46hs 3jki,46ht 3jl9,46hu sk4,46hv smp,46hw snl,46hx 3ju6,46hy snv,46hz svs,46i0 t07",
     "46i1 t08,46i2 sxo,46i3 t89,46i4 t91,46i5 3ksa,46i6 tjf,46i7 ej9,46i8 tkn,46i9 3l2v",
     "46ia eli,46ib ts3,46ic iia,46id tur,46ie 3ltx,46if 3lzu,46ig epa,46ih epi,46ii u00",
     "46ij 3mdm,46ik er6,46il 3mhi,46im u17,46in u17,46io u21,46ip 3mpi,46iq u76,46ir eur",
     "46is u95,46it ucn,46iu ude,46iv uf2,46iw ez2,46ix 3nsg,46iy umq,46iz uv4,46j0 v0d",
     "46j1 f66,46j2 f71,46j3 v3b,46j4 3owe,46j5 f7c,46j6 3oxx,46j7 3p5a,46j8 3p8x,46j9 vcr",
     "46ja f9y,46jb veh,46jc vem,46jd vet,46je vf3,46jf vfa,46jg vgb,46jh 3pxc"]

/-- The boundaries of the characters that never come back by composition although they decompose
into two, as distances in base 36. -/
def excludedTable : List String :=
  ["n8 1t 15f 37 h a4 k 1k q7 6b 59y 12o 1429 23w 147p"]

/-- The combining classes: first character, number of characters and class, in base 36. -/
def combiningTable : List String :=
  ["lc l 6e,lx 1 6g,ly 4 64,m2 1 6g,m3 1 60,m4 5 64,m9 2 5m,mb 4 64,mf 2 5m,mh b 64,ms 5 1",
     "mx 4 64,n1 8 6e,n9 1 6o,na 1 6e,nb 3 64,ne 3 6e,nh 2 64,nk 3 6e,nn 4 64,nr 1 6e,ns 1 6g",
     "nt 2 64,nv 1 6e,nw 1 6h,nx 2 6i,nz 1 6h,o0 2 6i,o2 1 6h,o3 d 6e,w3 5 6e,13l 1 64",
     "13m 4 6e,13q 1 64,13r 3 6e,13u 1 66,13v 1 64,13w 6 6e,142 6 64,148 2 6e,14a 1 64",
     "14b 2 6e,14d 1 66,14e 1 6c,14f 1 6e,14g 1 a,14h 1 b,14i 1 c,14j 1 d,14k 1 e,14l 1 f",
     "14m 1 g,14n 1 h,14o 1 i,14p 2 j,14r 1 k,14s 1 l,14t 1 m,14v 1 n,14x 1 o,14y 1 p,150 1 6e",
     "151 1 64,153 1 i,174 8 6e,17c 1 u,17d 1 v,17e 1 w,18r 1 r,18s 1 s,18t 1 t,18u 1 u",
     "18v 1 v,18w 1 w,18x 1 x,18y 1 y,18z 2 6e,191 2 64,193 5 6e,198 1 64,199 2 6e,19b 1 64",
     "19s 1 z,1cm 7 6e,1cv 4 6e,1cz 1 64,1d0 1 6e,1d3 2 6e,1d6 1 64,1d7 2 6e,1d9 1 64,1e9 1 10",
     "1f4 1 6e,1f5 1 64,1f6 2 6e,1f8 1 64,1f9 2 6e,1fb 3 64,1fe 1 6e,1ff 2 64,1fh 1 6e",
     "1fi 1 64,1fj 3 6e,1fm 1 64,1fn 1 6e,1fo 1 64,1fp 1 6e,1fq 1 64,1fr 1 6e,1fs 1 64",
     "1ft 2 6e,1kb 7 6e,1ki 1 64,1kj 1 6e,1kt 1 64,1li 4 6e,1ln 9 6e,1lx 3 6e,1m1 5 6e",
     "1nd 3 64,1p3 2 6e,1p5 3 64,1p8 4 6e,1qi 5 6e,1qn 5 64,1qs e 6e,1r7 1 64,1r8 2 6e",
     "1ra 1 64,1rb 2 6e,1rd 1 64,1re 3 6e,1rh 3 64,1rk 1 r,1rl 1 s,1rm 1 t,1rn 3 6e,1rq 1 64",
     "1rr 2 6e,1rt 2 64,1rv 5 6e,1to 1 7,1u5 1 9,1u9 1 6e,1ua 1 64,1ub 2 6e,1x8 1 7,1xp 1 9",
     "1z2 1 6e,20s 1 7,219 1 9,24c 1 7,24t 1 9,27w 1 7,28d 1 9,2bx 1 9,2f0 1 7,2fh 1 9",
     "2fp 1 2c,2fq 1 2j,2ik 1 7,2j1 1 9,2m3 2 9,2ml 1 9,2q2 1 9,2t4 2 2v,2t6 1 9,2tk 4 2z",
     "2wo 2 3a,2wq 1 9,2x4 4 3e,2zc 2 64,305 1 64,307 1 64,309 1 60,31t 1 3l,31u 1 3m,31w 1 3o",
     "322 4 3m,328 1 3m,32a 2 6e,32c 1 9,32e 2 6e,346 1 64,37b 1 7,37d 2 9,39p 1 64,3tp 3 6e",
     "4k4 2 9,4l0 1 9,4pe 1 9,4pp 1 6e,4vd 1 6c,4zd 1 66,4ze 1 6e,4zf 1 64,55j 1 6e,55k 1 64",
     "57k 1 9,585 8 6e,58f 1 64,59s 5 6e,59x 6 64,5a3 2 6e,5a5 1 64,5a7 2 64,5a9 2 6e,5ab 2 64",
     "5ad 5 6e,5ai 1 64,5aj i 6e,5b1 1 64,5b4 6 6e,5ba 1 64,5bb 4 6e,5bf 1 6i,5dg 1 7,5dw 1 9",
     "5ez 1 6e,5f0 1 64,5f1 7 6e,5gq 2 9,5ie 1 7,5iq 2 9,5kn 1 7,5ow 3 6e,5p0 1 1,5p1 5 64",
     "5p6 2 6e,5p8 4 64,5pc 1 6e,5pe 7 1,5pp 1 64,5pw 1 6e,5q0 2 6e,5vk 2 6e,5vm 1 64,5vn 7 6e",
     "5vu 1 64,5vv 2 6e,5vx 1 6i,5vy 1 5y,5vz 1 64,5w0 1 5m,5w1 11 6e,5x2 1 6g,5x3 2 6c",
     "5x5 1 64,5x6 1 62,5x7 1 6e,5x8 1 6h,5x9 1 64,5xa 1 6e,5xb 1 64,6hc 2 6e,6he 2 1,6hg 4 6e",
     "6hk 3 1,6hn 2 6e,6ht 1 6e,6hx 2 1,6hz 1 6e,6i0 1 64,6i1 1 6e,6i2 2 1,6i4 4 64,6i8 1 6e",
     "8vj 3 6e,8zj 1 9,928 w 6e,9ii 1 62,9ij 1 6c,9ik 1 6g,9il 1 66,9im 2 68,9ll 2 8,wvj 1 6e",
     "wvo a 6e,wwu 2 6e,wz4 2 6e,x6u 1 9,x7w 1 9,xc4 1 9,xcw i 6e,xez 3 64,xg3 1 9,xir 1 7",
     "xj4 1 9,xps 1 6e,xpu 2 6e,xpw 1 64,xpz 2 6e,xq6 2 6e,xq9 1 6e,xrq 1 9,xyl 1 9,1dlq 1 q",
     "1e74 7 6e,1e7b 7 64,1e7i 2 6e,1eyl 1 64,1f4w 1 64,1f92 5 6e,1gjx 1 64,1gjz 1 6e",
     "1gl4 1 6e,1gl5 1 1,1gl6 1 64,1glb 1 9,1gpx 1 6e,1gpy 1 64,1h5w 4 6e,1h7t 5 6e,1hgr 2 6e",
     "1hiy 2 64,1hj1 3 64,1hl2 2 64,1hl4 3 6e,1hl7 1 64,1hl8 1 6e,1hl9 4 64,1hmq 1 6e",
     "1hmr 1 64,1hms 1 6e,1hmt 1 64,1hs6 1 9,1htc 1 9,1htr 1 9,1hvd 1 9,1hve 1 7,1hxc 3 6e",
     "1hyr 2 9,1i0j 1 7,1i2o 1 9,1i2y 1 7,1i5x 1 9,1i5y 1 7,1iax 1 7,1iay 1 9,1id7 2 7",
     "1idp 1 9,1iee 7 6e,1ieo 5 6e,1iha 3 9,1iki 1 9,1ikm 1 7,1ila 1 6e,1io2 1 9,1io3 1 7",
     "1iv3 1 9,1iv4 1 7,1iyn 1 9,1j1y 1 9,1j1z 1 7,1j57 1 9,1jcp 1 9,1jcq 1 7,1jjx 2 9",
     "1jk3 1 7,1jog 1 9,1jqs 1 9,1jrb 1 9,1jtl 1 9,1k5b 1 9,1kci 1 7,1kck 2 9,1kev 1 9",
     "1kqp 2 9,1xrj 1 9,1zow 5 1,1zqo 7 6e,20og 2 6,2ftq 1 1,2jxh 2 60,2jxj 3 1,2jxp 1 6a",
     "2jxq 5 60,2jy3 8 64,2jyd 5 6e,2jyi 2 64,2jze 4 6e,2k3m 3 6e,2mtc 7 6e,2mtk h 6e",
     "2mu3 7 6e,2mub 2 6e,2mue 5 6e,2mxb 1 6e,2n1s 7 6e,2nce 1 6e,2ne4 4 6e,2nsc 2 6g",
     "2nse 1 64,2nsf 1 6e,2nzi 1 6e,2nzj 1 64,2o6b 1 6e,2o6e 1 6e,2o6m 2 6e,2o6t 1 6e",
     "2ok0 7 64,2on8 6 6e,2one 1 7"]

/-- The words of the entries of a table. -/
def tableEntries (lines : List String) : List (List Nat) :=
  lines.flatMap fun line =>
    (wordsOf ',' line.toList).map fun entry => (wordsOf ' ' entry).map base36

/-- The decompositions: a code point and what it stands for. -/
def decompositions : List (Nat × List Nat) :=
  (tableEntries decompositionTable).filterMap fun entry =>
    match entry with
    | n :: rest => some (n, rest)
    | [] => none

/-- The boundaries of what composition leaves out. -/
def excludedBoundaries : List Nat := decodeBoundaries excludedTable

/-- The composites with the two code points that make them up. -/
def composites : List (Nat × Nat × Nat) :=
  decompositions.filterMap fun entry =>
    match entry.2 with
    | [a, b] => if InversionList.contains excludedBoundaries entry.1 then none else some (a, b, entry.1)
    | _ => none

/-- The combining classes by range. -/
def combiningRanges : List (Nat × Nat × Nat) :=
  (tableEntries combiningTable).filterMap fun entry =>
    match entry with
    | [first, count, k] => some (first, first + count, k)
    | _ => none

/-- The combining class of a code point; a starter has class 0. -/
def combiningClass (n : Nat) : Nat :=
  if n < 0x300 then 0
  else
    match combiningRanges.find? fun r => decide (r.1 ≤ n) && decide (n < r.2.1) with
    | some r => r.2.2
    | none => 0

/-! ## Hangul -/

/-- Whether the code point is a Hangul syllable. -/
def isSyllable (n : Nat) : Bool := decide (0xAC00 ≤ n) && decide (n < 0xD7A4)

/-- The parts of a syllable: leading consonant, vowel and, unless there is none, a trailing
consonant. -/
def syllableParts (n : Nat) : List Nat :=
  let s := n - 0xAC00
  let parts := [0x1100 + s / 588, 0x1161 + s % 588 / 28]
  if s % 28 = 0 then parts else parts ++ [0x11A7 + s % 28]

/-- The syllable of a leading consonant and a vowel, or of a syllable without a trailing consonant
and such a consonant. -/
def syllable? (a b : Nat) : Option Nat :=
  if 0x1100 ≤ a ∧ a < 0x1113 ∧ 0x1161 ≤ b ∧ b < 0x1176 then
    some (0xAC00 + (a - 0x1100) * 588 + (b - 0x1161) * 28)
  else if isSyllable a ∧ (a - 0xAC00) % 28 = 0 ∧ 0x11A7 < b ∧ b < 0x11C3 then
    some (a + (b - 0x11A7))
  else none

/-! ## Normalization -/

/-- What a code point decomposes into, following the table for a number of steps. -/
def decomposeSteps : Nat → Nat → List Nat
  | 0, n => [n]
  | steps + 1, n =>
    if isSyllable n then syllableParts n
    else
      match decompositions.find? fun entry => entry.1 == n with
      | some entry => entry.2.flatMap (decomposeSteps steps)
      | none => [n]

/-- The decomposition of a code point. No entry of the table takes more than four steps. -/
def decompose (n : Nat) : List Nat :=
  if n < 0xC0 then [n] else decomposeSteps 4 n

/-- Puts a code point behind a reversed text, before trailing marks of a higher class. -/
def placeMark (k n : Nat) : List Nat → List Nat
  | [] => [n]
  | m :: rest => if k < combiningClass m then m :: placeMark k n rest else n :: m :: rest

/-- The text with the marks behind every starter in the order of their classes. -/
def orderMarks (text : List Nat) : List Nat :=
  (text.foldl (fun done n =>
    let k := combiningClass n
    if k = 0 then n :: done else placeMark k n done) []).reverse

/-- The composite of two code points. -/
def composite? (a b : Nat) : Option Nat :=
  match syllable? a b with
  | some n => some n
  | none => (composites.find? fun entry => entry.1 == a && entry.2.1 == b).map (·.2.2)

/-- Composes from a starter on. The marks kept behind it are given in reverse, with the class of
the last one. -/
def composeFrom (starter : Nat) (kept : List Nat) (last : Nat) : List Nat → List Nat
  | [] => starter :: kept.reverse
  | n :: rest =>
    let k := combiningClass n
    let taken := if kept.isEmpty || decide (last < k) then composite? starter n else none
    match taken with
    | some c => composeFrom c kept last rest
    | none =>
      if k = 0 then starter :: (kept.reverse ++ composeFrom n [] 0 rest)
      else composeFrom starter (n :: kept) k rest

/-- Composes a text whose marks are in order. -/
def composeAll : List Nat → List Nat
  | [] => []
  | n :: rest => if combiningClass n = 0 then composeFrom n [] 0 rest else n :: composeAll rest

/-- The normalization form C of a text. Below U+0300 everything is composed already. -/
def compose (text : List Nat) : List Nat :=
  if text.all fun n => decide (n < 0x300) then text
  else composeAll (orderMarks (text.flatMap decompose))

end Automation.Text
