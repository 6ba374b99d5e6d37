/-!
# Simple case folding

The classes of characters that differ in case only. The members of a class are separated by
commas and written in base 36.
-/

namespace Automation.Regex

/-- The classes with more than one member. -/
def foldingTable : List String :=
  ["1t,2p 1u,2q 1v,2r 1w,2s 1x,2t 1y,2u 1z,2v 20,2w 21,2x 22,2y 23,2z,6ju 24,30 25,31 26,32",
   "27,33 28,34 29,35 2a,36 2b,37,an 2c,38 2d,39 2e,3a 2f,3b 2g,3c 2h,3d 2i,3e 51,po,qk",
   "5c,68 5d,69 5e,6a 5f,6b 5g,6c 5h,6d,6jv 5i,6e 5j,6f 5k,6g 5l,6h 5m,6i 5n,6j 5o,6k 5p,6l",
   "5q,6m 5r,6n 5s,6o 5t,6p 5u,6q 5v,6r 5w,6s 5x,6t 5y,6u 60,6w 61,6x 62,6y 63,6z 64,70",
   "65,71 66,72 67,61q 73,ag 74,75 76,77 78,79 7a,7b 7c,7d 7e,7f 7g,7h 7i,7j 7k,7l 7m,7n",
   "7o,7p 7q,7r 7s,7t 7u,7v 7w,7x 7y,7z 80,81 82,83 84,85 86,87 88,89 8a,8b 8c,8d 8e,8f",
   "8i,8j 8k,8l 8m,8n 8p,8q 8r,8s 8t,8u 8v,8w 8x,8y 8z,90 91,92 93,94 96,97 98,99 9a,9b",
   "9c,9d 9e,9f 9g,9h 9i,9j 9k,9l 9m,9n 9o,9p 9q,9r 9s,9t 9u,9v 9w,9x 9y,9z a0,a1 a2,a3",
   "a4,a5 a6,a7 a8,a9 aa,ab ac,ad ae,af ah,ai aj,ak al,am ao,g3 ap,gj aq,ar as,at au,gk",
   "av,aw ax,gm ay,gn az,b0 b2,d9 b3,gp b4,gr b5,b6 b7,gw b8,gz b9,dy ba,h5 bb,h4 bc,bd",
   "be,fx bf,x5o bg,hb bh,he bi,f4 bj,hh bk,bl bm,bn bo,bp bq,hs br,bs bt,hv bw,bx by,i0",
   "bz,c0 c1,i2 c2,i3 c3,c4 c5,c6 c7,ia c8,c9 cc,cd cf,dz ck,cl,cm cn,co,cp cq,cr,cs ct,cu",
   "cv,cw cx,cy cz,d0 d1,d2 d3,d4 d5,d6 d7,d8 da,db dc,dd de,df dg,dh di,dj dk,dl dm,dn",
   "do,dp dq,dr dt,du,dv dw,dx e0,e1 e2,e3 e4,e5 e6,e7 e8,e9 ea,eb ec,ed ee,ef eg,eh ei,ej",
   "ek,el em,en eo,ep eq,er es,et eu,ev ew,ex ey,ez f0,f1 f2,f3 f6,f7 f8,f9 fa,fb fc,fd",
   "fe,ff fg,fh fi,fj fk,fl fm,fn fu,8rp fv,fw fy,8rq fz,8se g0,8sf g1,g2 g4,i1 g5,i4 g6,g7",
   "g8,g9 ga,gb gc,gd ge,gf gg,8rz gh,8rx gi,8s0 gs,x4b gx,x4c h0,x57 h1,x3h h2,x4a h6,x4e",
   "h7,8rm h8,x4d hd,8ry hp,8ro hu,x51 hz,x4h il,x4i im,x4g n9,pl,qh,69q og,oh oi,oj om,on",
   "or,sd os,se ot,sf ov,s3 p2,q4 p4,q5 p5,q6 p6,q7 p8,r0 pa,r1 pb,r2 pc,6ab pd,q9 pe,qa,r4",
   "pf,qb pg,qc ph,qd,s5 pi,qe pj,qf pk,qg,r5,s4 pm,qi,s0 pn,qj pp,ql pq,qm pr,qn ps,qo,ra",
   "pt,qp,s1 pv,qq,qr pw,qs px,qt py,qu,r9 pz,qv q0,qw q1,qx,6jq q2,qy q3,qz q8,6ar r3,rb",
   "rc,rd re,rf rg,rh ri,rj rk,rl rm,rn ro,rp rq,rr rs,rt ru,rv rw,rx ry,rz s2,s9 s7,s8",
   "sa,sb sg,uo sh,up si,uq sj,ur sk,us sl,ut sm,uu sn,uv so,uw sp,ux sq,uy sr,uz ss,v0",
   "st,v1 su,v2 sv,v3 sw,ts sx,tt sy,tu,5mo sz,tv t0,tw,5mp t1,tx t2,ty t3,tz t4,u0 t5,u1",
   "t6,u2 t7,u3 t8,u4 t9,u5 ta,u6,5mq tb,u7 tc,u8 td,u9,5mr te,ua,5ms,5mt tf,ub tg,uc th,ud",
   "ti,ue tj,uf tk,ug tl,uh tm,ui,5mu tn,uj to,uk tp,ul tq,um tr,un v4,v5 v6,v7,5mv v8,v9",
   "va,vb vc,vd ve,vf vg,vh vi,vj vk,vl vm,vn vo,vp vq,vr vs,vt vu,vv vw,vx vy,vz w0,w1",
   "wa,wb wc,wd we,wf wg,wh wi,wj wk,wl wm,wn wo,wp wq,wr ws,wt wu,wv ww,wx wy,wz x0,x1",
   "x2,x3 x4,x5 x6,x7 x8,x9 xa,xb xc,xd xe,xf xg,xh xi,xj xk,xl xm,xn xo,xp xq,xr xs,y7",
   "xt,xu xv,xw xx,xy xz,y0 y1,y2 y3,y4 y5,y6 y8,y9 ya,yb yc,yd ye,yf yg,yh yi,yj yk,yl",
   "ym,yn yo,yp yq,yr ys,yt yu,yv yw,yx yy,yz z0,z1 z2,z3 z4,z5 z6,z7 z8,z9 za,zb zc,zd",
   "ze,zf zg,zh zi,zj zk,zl zm,zn zo,zp zq,zr zs,zt zu,zv zw,zx zy,zz 100,101 102,103",
   "104,105 106,107 108,109 10a,10b 10c,10d 10e,10f 10g,10h 10i,10j 10k,10l 10m,10n 10o,10p",
   "10q,10r 10s,10t 10u,10v 10x,129 10y,12a 10z,12b 110,12c 111,12d 112,12e 113,12f 114,12g",
   "115,12h 116,12i 117,12j 118,12k 119,12l 11a,12m 11b,12n 11c,12o 11d,12p 11e,12q 11f,12r",
   "11g,12s 11h,12t 11i,12u 11j,12v 11k,12w 11l,12x 11m,12y 11n,12z 11o,130 11p,131 11q,132",
   "11r,133 11s,134 11t,135 11u,136 11v,137 11w,138 11x,139 11y,13a 3a8,8w0 3a9,8w1 3aa,8w2",
   "3ab,8w3 3ac,8w4 3ad,8w5 3ae,8w6 3af,8w7 3ag,8w8 3ah,8w9 3ai,8wa 3aj,8wb 3ak,8wc 3al,8wd",
   "3am,8we 3an,8wf 3ao,8wg 3ap,8wh 3aq,8wi 3ar,8wj 3as,8wk 3at,8wl 3au,8wm 3av,8wn 3aw,8wo",
   "3ax,8wp 3ay,8wq 3az,8wr 3b0,8ws 3b1,8wt 3b2,8wu 3b3,8wv 3b4,8ww 3b5,8wx 3b6,8wy 3b7,8wz",
   "3b8,8x0 3b9,8x1 3bb,8x3 3bh,8x9 3bk,5n4 3bl,5n5 3bm,5n6 3bn,5n7 3bo,5n8 3bp,5n9 3bq,5na",
   "3br,5nb 3bs,5nc 3bt,5nd 3bu,5ne 3bv,5nf 3bw,5ng 3bx,5nh 3by,5ni 3bz,5nj 3c0,5nk 3c1,5nl",
   "3c2,5nm 3c3,5nn 3c4,5no 3c5,5np 3c6,5nq 3c7,5nr 3c8,5ns 3c9,5nt 3ca,5nu 3cb,5nv 3cc,5nw",
   "3cd,5nx 3ce,5ny 3cf,5nz 3cg,5o0 3ch,5o1 3ci,5o2 3cj,5o3 3ck,5o4 3cl,5o5 3cm,5o6 3cn,5o7",
   "3co,5o8 3cp,5o9 3cq,5oa 3ct,5od 3cu,5oe 3cv,5of 3vk,xv4 3vl,xv5 3vm,xv6 3vn,xv7 3vo,xv8",
   "3vp,xv9 3vq,xva 3vr,xvb 3vs,xvc 3vt,xvd 3vu,xve 3vv,xvf 3vw,xvg 3vx,xvh 3vy,xvi 3vz,xvj",
   "3w0,xvk 3w1,xvl 3w2,xvm 3w3,xvn 3w4,xvo 3w5,xvp 3w6,xvq 3w7,xvr 3w8,xvs 3w9,xvt 3wa,xvu",
   "3wb,xvv 3wc,xvw 3wd,xvx 3we,xvy 3wf,xvz 3wg,xw0 3wh,xw1 3wi,xw2 3wj,xw3 3wk,xw4 3wl,xw5",
   "3wm,xw6 3wn,xw7 3wo,xw8 3wp,xw9 3wq,xwa 3wr,xwb 3ws,xwc 3wt,xwd 3wu,xwe 3wv,xwf 3ww,xwg",
   "3wx,xwh 3wy,xwi 3wz,xwj 3x0,xwk 3x1,xwl 3x2,xwm 3x3,xwn 3x4,xwo 3x5,xwp 3x6,xwq 3x7,xwr",
   "3x8,xws 3x9,xwt 3xa,xwu 3xb,xwv 3xc,xww 3xd,xwx 3xe,xwy 3xf,xwz 3xg,xx0 3xh,xx1 3xi,xx2",
   "3xj,xx3 3xk,xx4 3xl,xx5 3xm,xx6 3xn,xx7 3xo,xx8 3xp,xx9 3xq,xxa 3xr,xxb 3xs,3y0 3xt,3y1",
   "3xu,3y2 3xv,3y3 3xw,3y4 3xx,3y5 5mw,wui,wuj 5mx,5my 5tl,x31 5tp,8rn 5u6,x52 5xc,5xd",
   "5xe,5xf 5xg,5xh 5xi,5xj 5xk,5xl 5xm,5xn 5xo,5xp 5xq,5xr 5xs,5xt 5xu,5xv 5xw,5xx 5xy,5xz",
   "5y0,5y1 5y2,5y3 5y4,5y5 5y6,5y7 5y8,5y9 5ya,5yb 5yc,5yd 5ye,5yf 5yg,5yh 5yi,5yj 5yk,5yl",
   "5ym,5yn 5yo,5yp 5yq,5yr 5ys,5yt 5yu,5yv 5yw,5yx 5yy,5yz 5z0,5z1 5z2,5z3 5z4,5z5 5z6,5z7",
   "5z8,5z9 5za,5zb 5zc,5zd 5ze,5zf 5zg,5zh 5zi,5zj 5zk,5zl 5zm,5zn 5zo,5zp 5zq,5zr 5zs,5zt",
   "5zu,5zv 5zw,5zx 5zy,5zz 600,601,61n 602,603 604,605 606,607 608,609 60a,60b 60c,60d",
   "60e,60f 60g,60h 60i,60j 60k,60l 60m,60n 60o,60p 60q,60r 60s,60t 60u,60v 60w,60x 60y,60z",
   "610,611 612,613 614,615 616,617 618,619 61a,61b 61c,61d 61e,61f 61g,61h 61s,61t 61u,61v",
   "61w,61x 61y,61z 620,621 622,623 624,625 626,627 628,629 62a,62b 62c,62d 62e,62f 62g,62h",
   "62i,62j 62k,62l 62m,62n 62o,62p 62q,62r 62s,62t 62u,62v 62w,62x 62y,62z 630,631 632,633",
   "634,635 636,637 638,639 63a,63b 63c,63d 63e,63f 63g,63h 63i,63j 63k,63l 63m,63n 63o,63p",
   "63q,63r 63s,63t 63u,63v 63w,63x 63y,63z 640,641 642,643 644,645 646,647 648,649 64a,64b",
   "64c,64d 64e,64f 64g,64o 64h,64p 64i,64q 64j,64r 64k,64s 64l,64t 64m,64u 64n,64v 64w,654",
   "64x,655 64y,656 64z,657 650,658 651,659 65c,65k 65d,65l 65e,65m 65f,65n 65g,65o 65h,65p",
   "65i,65q 65j,65r 65s,660 65t,661 65u,662 65v,663 65w,664 65x,665 65y,666 65z,667 668,66g",
   "669,66h 66a,66i 66b,66j 66c,66k 66d,66l 66p,66x 66r,66z 66t,671 66v,673 674,67c 675,67d",
   "676,67e 677,67f 678,67g 679,67h 67a,67i 67b,67j 67k,69m 67l,69n 67m,6a0 67n,6a1 67o,6a2",
   "67p,6a3 67q,6ai 67r,6aj 67s,6bc 67t,6bd 67u,6ay 67v,6az 67w,6be 67x,6bf 680,688 681,689",
   "682,68a 683,68b 684,68c 685,68d 686,68e 687,68f 68g,68o 68h,68p 68i,68q 68j,68r 68k,68s",
   "68l,68t 68m,68u 68n,68v 68w,694 68x,695 68y,696 68z,697 690,698 691,699 692,69a 693,69b",
   "69c,69k 69d,69l 69f,69o 69v,6a4 6a8,6ag 6a9,6ah 6ao,6aw 6ap,6ax 6at,6b0 6b7,6bg 6k2,6ku",
   "6lc,6ls 6ld,6lt 6le,6lu 6lf,6lv 6lg,6lw 6lh,6lx 6li,6ly 6lj,6lz 6lk,6m0 6ll,6m1 6lm,6m2",
   "6ln,6m3 6lo,6m4 6lp,6m5 6lq,6m6 6lr,6m7 6mb,6mc 792,79s 793,79t 794,79u 795,79v 796,79w",
   "797,79x 798,79y 799,79z 79a,7a0 79b,7a1 79c,7a2 79d,7a3 79e,7a4 79f,7a5 79g,7a6 79h,7a7",
   "79i,7a8 79j,7a9 79k,7aa 79l,7ab 79m,7ac 79n,7ad 79o,7ae 79p,7af 79q,7ag 79r,7ah 8ow,8q8",
   "8ox,8q9 8oy,8qa 8oz,8qb 8p0,8qc 8p1,8qd 8p2,8qe 8p3,8qf 8p4,8qg 8p5,8qh 8p6,8qi 8p7,8qj",
   "8p8,8qk 8p9,8ql 8pa,8qm 8pb,8qn 8pc,8qo 8pd,8qp 8pe,8qq 8pf,8qr 8pg,8qs 8ph,8qt 8pi,8qu",
   "8pj,8qv 8pk,8qw 8pl,8qx 8pm,8qy 8pn,8qz 8po,8r0 8pp,8r1 8pq,8r2 8pr,8r3 8ps,8r4 8pt,8r5",
   "8pu,8r6 8pv,8r7 8pw,8r8 8px,8r9 8py,8ra 8pz,8rb 8q0,8rc 8q1,8rd 8q2,8re 8q3,8rf 8q4,8rg",
   "8q5,8rh 8q6,8ri 8q7,8rj 8rk,8rl 8rr,8rs 8rt,8ru 8rv,8rw 8s2,8s3 8s5,8s6 8sg,8sh 8si,8sj",
   "8sk,8sl 8sm,8sn 8so,8sp 8sq,8sr 8ss,8st 8su,8sv 8sw,8sx 8sy,8sz 8t0,8t1 8t2,8t3 8t4,8t5",
   "8t6,8t7 8t8,8t9 8ta,8tb 8tc,8td 8te,8tf 8tg,8th 8ti,8tj 8tk,8tl 8tm,8tn 8to,8tp 8tq,8tr",
   "8ts,8tt 8tu,8tv 8tw,8tx 8ty,8tz 8u0,8u1 8u2,8u3 8u4,8u5 8u6,8u7 8u8,8u9 8ua,8ub 8uc,8ud",
   "8ue,8uf 8ug,8uh 8ui,8uj 8uk,8ul 8um,8un 8uo,8up 8uq,8ur 8us,8ut 8uu,8uv 8uw,8ux 8uy,8uz",
   "8v0,8v1 8v2,8v3 8v4,8v5 8v6,8v7 8vf,8vg 8vh,8vi 8vm,8vn wu8,wu9 wua,wub wuc,wud wue,wuf",
   "wug,wuh wuk,wul wum,wun wuo,wup wuq,wur wus,wut wuu,wuv wuw,wux wuy,wuz wv0,wv1 wv2,wv3",
   "wv4,wv5 wv6,wv7 wv8,wv9 wva,wvb wvc,wvd wve,wvf wvg,wvh ww0,ww1 ww2,ww3 ww4,ww5 ww6,ww7",
   "ww8,ww9 wwa,wwb wwc,wwd wwe,wwf wwg,wwh wwi,wwj wwk,wwl wwm,wwn wwo,wwp wwq,wwr x0i,x0j",
   "x0k,x0l x0m,x0n x0o,x0p x0q,x0r x0s,x0t x0u,x0v x0y,x0z x10,x11 x12,x13 x14,x15 x16,x17",
   "x18,x19 x1a,x1b x1c,x1d x1e,x1f x1g,x1h x1i,x1j x1k,x1l x1m,x1n x1o,x1p x1q,x1r x1s,x1t",
   "x1u,x1v x1w,x1x x1y,x1z x20,x21 x22,x23 x24,x25 x26,x27 x28,x29 x2a,x2b x2c,x2d x2e,x2f",
   "x2g,x2h x2i,x2j x2k,x2l x2m,x2n x2x,x2y x2z,x30 x32,x33 x34,x35 x36,x37 x38,x39 x3a,x3b",
   "x3f,x3g x3k,x3l x3m,x3n x3o,x50 x3q,x3r x3s,x3t x3u,x3v x3w,x3x x3y,x3z x40,x41 x42,x43",
   "x44,x45 x46,x47 x48,x49 x4j,xub x4k,x4l x4m,x4n x4o,x4p x4q,x4r x4s,x4t x4u,x4v x4w,x4x",
   "x4y,x4z x53,x54 x55,x56 x58,x59 x5a,x5b x5c,x5d x5e,x5f x5g,x5h x5i,x5j x5k,x5l x5m,x5n",
   "x6d,x6e 1dl1,1dl2 1ee9,1ef5 1eea,1ef6 1eeb,1ef7 1eec,1ef8 1eed,1ef9 1eee,1efa 1eef,1efb",
   "1eeg,1efc 1eeh,1efd 1eei,1efe 1eej,1eff 1eek,1efg 1eel,1efh 1eem,1efi 1een,1efj",
   "1eeo,1efk 1eep,1efl 1eeq,1efm 1eer,1efn 1ees,1efo 1eet,1efp 1eeu,1efq 1eev,1efr",
   "1eew,1efs 1eex,1eft 1eey,1efu 1fcw,1fe0 1fcx,1fe1 1fcy,1fe2 1fcz,1fe3 1fd0,1fe4",
   "1fd1,1fe5 1fd2,1fe6 1fd3,1fe7 1fd4,1fe8 1fd5,1fe9 1fd6,1fea 1fd7,1feb 1fd8,1fec",
   "1fd9,1fed 1fda,1fee 1fdb,1fef 1fdc,1feg 1fdd,1feh 1fde,1fei 1fdf,1fej 1fdg,1fek",
   "1fdh,1fel 1fdi,1fem 1fdj,1fen 1fdk,1feo 1fdl,1fep 1fdm,1feq 1fdn,1fer 1fdo,1fes",
   "1fdp,1fet 1fdq,1feu 1fdr,1fev 1fds,1few 1fdt,1fex 1fdu,1fey 1fdv,1fez 1fdw,1ff0",
   "1fdx,1ff1 1fdy,1ff2 1fdz,1ff3 1fhs,1fiw 1fht,1fix 1fhu,1fiy 1fhv,1fiz 1fhw,1fj0",
   "1fhx,1fj1 1fhy,1fj2 1fhz,1fj3 1fi0,1fj4 1fi1,1fj5 1fi2,1fj6 1fi3,1fj7 1fi4,1fj8",
   "1fi5,1fj9 1fi6,1fja 1fi7,1fjb 1fi8,1fjc 1fi9,1fjd 1fia,1fje 1fib,1fjf 1fic,1fjg",
   "1fid,1fjh 1fie,1fji 1fif,1fjj 1fig,1fjk 1fih,1fjl 1fii,1fjm 1fij,1fjn 1fik,1fjo",
   "1fil,1fjp 1fim,1fjq 1fin,1fjr 1fio,1fjs 1fip,1fjt 1fiq,1fju 1fir,1fjv 1fn4,1fo7",
   "1fn5,1fo8 1fn6,1fo9 1fn7,1foa 1fn8,1fob 1fn9,1foc 1fna,1fod 1fnb,1foe 1fnc,1fof",
   "1fnd,1fog 1fne,1foh 1fng,1foj 1fnh,1fok 1fni,1fol 1fnj,1fom 1fnk,1fon 1fnl,1foo",
   "1fnm,1fop 1fnn,1foq 1fno,1for 1fnp,1fos 1fnq,1fot 1fnr,1fou 1fns,1fov 1fnt,1fow",
   "1fnu,1fox 1fnw,1foz 1fnx,1fp0 1fny,1fp1 1fnz,1fp2 1fo0,1fp3 1fo1,1fp4 1fo2,1fp5",
   "1fo4,1fp7 1fo5,1fp8 1h1c,1h34 1h1d,1h35 1h1e,1h36 1h1f,1h37 1h1g,1h38 1h1h,1h39",
   "1h1i,1h3a 1h1j,1h3b 1h1k,1h3c 1h1l,1h3d 1h1m,1h3e 1h1n,1h3f 1h1o,1h3g 1h1p,1h3h",
   "1h1q,1h3i 1h1r,1h3j 1h1s,1h3k 1h1t,1h3l 1h1u,1h3m 1h1v,1h3n 1h1w,1h3o 1h1x,1h3p",
   "1h1y,1h3q 1h1z,1h3r 1h20,1h3s 1h21,1h3t 1h22,1h3u 1h23,1h3v 1h24,1h3w 1h25,1h3x",
   "1h26,1h3y 1h27,1h3z 1h28,1h40 1h29,1h41 1h2a,1h42 1h2b,1h43 1h2c,1h44 1h2d,1h45",
   "1h2e,1h46 1h2f,1h47 1h2g,1h48 1h2h,1h49 1h2i,1h4a 1h2j,1h4b 1h2k,1h4c 1h2l,1h4d",
   "1h2m,1h4e 1h2n,1h4f 1h2o,1h4g 1h2p,1h4h 1h2q,1h4i 1h74,1h80 1h75,1h81 1h76,1h82",
   "1h77,1h83 1h78,1h84 1h79,1h85 1h7a,1h86 1h7b,1h87 1h7c,1h88 1h7d,1h89 1h7e,1h8a",
   "1h7f,1h8b 1h7g,1h8c 1h7h,1h8d 1h7i,1h8e 1h7j,1h8f 1h7k,1h8g 1h7l,1h8h 1h7m,1h8i",
   "1h7n,1h8j 1h7o,1h8k 1h7p,1h8l 1jfk,1jgg 1jfl,1jgh 1jfm,1jgi 1jfn,1jgj 1jfo,1jgk",
   "1jfp,1jgl 1jfq,1jgm 1jfr,1jgn 1jfs,1jgo 1jft,1jgp 1jfu,1jgq 1jfv,1jgr 1jfw,1jgs",
   "1jfx,1jgt 1jfy,1jgu 1jfz,1jgv 1jg0,1jgw 1jg1,1jgx 1jg2,1jgy 1jg3,1jgz 1jg4,1jh0",
   "1jg5,1jh1 1jg6,1jh2 1jg7,1jh3 1jg8,1jh4 1jg9,1jh5 1jga,1jh6 1jgb,1jh7 1jgc,1jh8",
   "1jgd,1jh9 1jge,1jha 1jgf,1jhb 20cg,20dc 20ch,20dd 20ci,20de 20cj,20df 20ck,20dg",
   "20cl,20dh 20cm,20di 20cn,20dj 20co,20dk 20cp,20dl 20cq,20dm 20cr,20dn 20cs,20do",
   "20ct,20dp 20cu,20dq 20cv,20dr 20cw,20ds 20cx,20dt 20cy,20du 20cz,20dv 20d0,20dw",
   "20d1,20dx 20d2,20dy 20d3,20dz 20d4,20e0 20d5,20e1 20d6,20e2 20d7,20e3 20d8,20e4",
   "20d9,20e5 20da,20e6 20db,20e7 20f4,20fv 20f5,20fw 20f6,20fx 20f7,20fy 20f8,20fz",
   "20f9,20g0 20fa,20g1 20fb,20g2 20fc,20g3 20fd,20g4 20fe,20g5 20ff,20g6 20fg,20g7",
   "20fh,20g8 20fi,20g9 20fj,20ga 20fk,20gb 20fl,20gc 20fm,20gd 20fn,20ge 20fo,20gf",
   "20fp,20gg 20fq,20gh 20fr,20gi 20fs,20gj 2olc,2oma 2old,2omb 2ole,2omc 2olf,2omd",
   "2olg,2ome 2olh,2omf 2oli,2omg 2olj,2omh 2olk,2omi 2oll,2omj 2olm,2omk 2oln,2oml",
   "2olo,2omm 2olp,2omn 2olq,2omo 2olr,2omp 2ols,2omq 2olt,2omr 2olu,2oms 2olv,2omt",
   "2olw,2omu 2olx,2omv 2oly,2omw 2olz,2omx 2om0,2omy 2om1,2omz 2om2,2on0 2om3,2on1",
   "2om4,2on2 2om5,2on3 2om6,2on4 2om7,2on5 2om8,2on6 2om9,2on7"]

end Automation.Regex
